import Mathlib.Data.List.Basic
import PlayerSession.Check

/-! The rules of a check, said of trails.  A trail is the list of the kinds that a scan has visited
after the opening event.  `Breaks` says which rules the visit of a kind breaks after a trail, and
`Breach.IsFirst` picks the one that is tested first.  `Scan.Follows` relates the state of a scan to
its trail: a scan stops at the first visit that breaks a rule, and reports it. -/

namespace PlayerSession

theorem concat_eq_append_cons_iff {α : Type} {l before after : List α} {last a : α} :
    l ++ [last] = before ++ a :: after ↔
      l = before ∧ last = a ∧ after = [] ∨
        ∃ after', after = after' ++ [last] ∧ l = before ++ a :: after' := by
  constructor
  · intro h
    rcases List.eq_nil_or_concat' after with rfl | ⟨after, last', rfl⟩
    · obtain ⟨hInit, hLast⟩ := List.append_inj' h rfl
      exact .inl ⟨hInit, List.singleton_inj.mp hLast, rfl⟩
    · rw [← List.cons_append, ← List.append_assoc] at h
      obtain ⟨hInit, hLast⟩ := List.append_inj' h rfl
      cases hLast
      exact .inr ⟨after, rfl, hInit⟩
  · rintro (⟨rfl, rfl, rfl⟩ | ⟨after', rfl, rfl⟩)
    · rfl
    · simp

/-! ### Kinds that alternate -/

namespace Pairing

/-- The kinds of the alternation rule. -/
def Has (p : Pairing) (kind : Kind) : Prop := kind = p.play ∨ kind = p.pause

instance (p : Pairing) (kind : Kind) : Decidable (p.Has kind) :=
  inferInstanceAs (Decidable (_ ∨ _))

/-- The last kind of a list that belongs to the pairing. -/
def latest? (p : Pairing) (kinds : List Kind) : Option Kind := (kinds.filter (p.Has ·)).getLast?

@[simp] theorem has_play (p : Pairing) : p.Has p.play := .inl rfl

@[simp] theorem has_pause (p : Pairing) : p.Has p.pause := .inr rfl

@[simp] theorem latest?_nil (p : Pairing) : p.latest? [] = none := rfl

theorem latest?_concat (p : Pairing) (kinds : List Kind) (k : Kind) :
    p.latest? (kinds ++ [k]) = if p.Has k then some k else p.latest? kinds := by
  unfold latest?
  by_cases h : p.Has k
  · rw [if_pos h, List.filter_append, List.filter_cons_of_pos (by simpa using h),
      List.filter_nil, List.getLast?_concat]
  · rw [if_neg h, List.filter_append, List.filter_cons_of_neg (by simpa using h),
      List.filter_nil, List.append_nil]

theorem has_of_latest? {p : Pairing} {kinds : List Kind} {k : Kind} (h : p.latest? kinds = some k) :
    p.Has k := by
  have hMem := List.mem_of_getLast? h
  simpa using (List.mem_filter.mp hMem).2

end Pairing

/-! ### Rules -/

/-- The place of a breach in the order in which the rules are tested. -/
@[simp] def Breach.rank : Breach → Nat
  | .initialNotFirst .. => 0
  | .duplicateSingleOccurrence _ => 1
  | .unknownKind _ => 2
  | .unpairedPlayPause .. => 3
  | .forbiddenTransition .. => 4

/-- `b` is among the breaches of `broken`, and no other of them is tested before it. -/
def Breach.IsFirst (broken : Breach → Prop) (b : Breach) : Prop :=
  broken b ∧ ∀ b', broken b' → b.rank ≤ b'.rank

theorem Breach.IsFirst.not_broken {broken : Breach → Prop} {b : Breach} (h : IsFirst broken b)
    (b' : Breach) (hRank : b'.rank < b.rank) : ¬ broken b' :=
  fun hb' => Nat.not_le_of_lt hRank (h.2 b' hb')

theorem Breach.exists_isFirst {broken : Breach → Prop} (h : ∃ b, broken b) :
    ∃ b, IsFirst broken b := by
  obtain ⟨b, hb⟩ := h
  induction hn : b.rank using Nat.strongRecOn generalizing b with
  | ind n ih =>
    by_cases hLess : ∃ b', broken b' ∧ b'.rank < n
    · obtain ⟨b', hb', hlt⟩ := hLess
      exact ih _ hlt b' hb' rfl
    · refine ⟨b, hb, fun b' hb' => ?_⟩
      rw [hn]
      exact Nat.le_of_not_lt fun hlt => hLess ⟨b', hb', hlt⟩

namespace Grammar

variable {g : Grammar} {trail : List Kind} {next : Kind}

/-- The kind that was visited last: the last of the trail, or else the initial kind. -/
def lastVisited (g : Grammar) (trail : List Kind) : Kind := trail.getLast?.getD g.initial

@[simp] theorem lastVisited_nil (g : Grammar) : g.lastVisited [] = g.initial := rfl

@[simp] theorem lastVisited_concat (g : Grammar) (trail : List Kind) (k : Kind) :
    g.lastVisited (trail ++ [k]) = k := by simp [lastVisited]

theorem lastVisited_mem (g : Grammar) (trail : List Kind) : g.lastVisited trail ∈ g.initial :: trail := by
  rcases List.eq_nil_or_concat' trail with rfl | ⟨trail, last, rfl⟩
  · exact List.mem_cons_self
  · rw [lastVisited_concat]
    simp

/-- The visit of `next` after `trail` breaks a rule. -/
inductive Breaks (g : Grammar) (trail : List Kind) (next : Kind) : Breach → Prop
  | duplicate : next ∈ g.onceOnly → next ∈ trail → Breaks g trail next (.duplicateSingleOccurrence next)
  | unknown : ¬ g.Declares next → Breaks g trail next (.unknownKind next)
  | pause {p : Pairing} : g.pairing = some p → next = p.pause → p.latest? trail ≠ some p.play →
      Breaks g trail next (.unpairedPlayPause next p.play)
  | play {p : Pairing} : g.pairing = some p → next = p.play → next ≠ p.pause →
      p.latest? trail = some p.play → Breaks g trail next (.unpairedPlayPause next p.pause)
  | forbidden : g.Forbids (g.lastVisited trail) next →
      Breaks g trail next (.forbiddenTransition (g.lastVisited trail) next)

/-- What it takes for a visit to break no rule. -/
theorem clean_iff :
    (∀ b, ¬ g.Breaks trail next b) ↔
      ¬ (next ∈ g.onceOnly ∧ next ∈ trail) ∧ g.Declares next ∧
        (∀ p, g.pairing = some p → (next = p.pause → p.latest? trail = some p.play) ∧
          (next = p.play → next ≠ p.pause → p.latest? trail ≠ some p.play)) ∧
        ¬ g.Forbids (g.lastVisited trail) next := by
  constructor
  · intro h
    refine ⟨?_, ?_, ?_, fun hNot => h _ (.forbidden hNot)⟩
    · rintro ⟨hOnce, hIn⟩
      exact h _ (.duplicate hOnce hIn)
    · by_contra hNot
      exact h _ (.unknown hNot)
    · intro p hp
      constructor
      · intro hNext
        by_contra hNot
        exact h _ (.pause hp hNext hNot)
      · intro hNext hNe hPlay
        exact h _ (.play hp hNext hNe hPlay)
  · rintro ⟨hNew, hKnown, hPaired, hAllowed⟩ b hb
    cases hb with
    | duplicate hOnce hIn => exact hNew ⟨hOnce, hIn⟩
    | unknown hNot => exact hNot hKnown
    | pause hp hNext hNot => exact hNot ((hPaired _ hp).1 hNext)
    | play hp hNext hNe hPlay => exact (hPaired _ hp).2 hNext hNe hPlay
    | forbidden hNot => exact hAllowed hNot

theorem Breaks.eq_of_rank_eq {b b' : Breach} (h : g.Breaks trail next b)
    (h' : g.Breaks trail next b') (hRank : b.rank = b'.rank) : b = b' := by
  cases h with
  | duplicate =>
    cases h' with
    | duplicate => rfl
    | unknown | pause | play | forbidden => cases hRank
  | unknown =>
    cases h' with
    | unknown => rfl
    | duplicate | pause | play | forbidden => cases hRank
  | forbidden =>
    cases h' with
    | forbidden => rfl
    | duplicate | unknown | pause | play => cases hRank
  | pause hp hNext =>
    cases h' with
    | pause hp' => cases hp.symm.trans hp'; rfl
    | play hp' _ hNe => cases hp.symm.trans hp'; exact absurd hNext hNe
    | duplicate | unknown | forbidden => cases hRank
  | play hp _ hNe =>
    cases h' with
    | pause hp' hNext => cases hp.symm.trans hp'; exact absurd hNext hNe
    | play hp' => cases hp.symm.trans hp'; rfl
    | duplicate | unknown | forbidden => cases hRank

theorem isFirst_unique {b b' : Breach} (h : Breach.IsFirst (g.Breaks trail next) b)
    (h' : Breach.IsFirst (g.Breaks trail next) b') : b = b' :=
  h.1.eq_of_rank_eq h'.1 (Nat.le_antisymm (h.2 b' h'.1) (h'.2 b h.1))

/-- No visit of the trail breaks a rule. -/
def Obeys (g : Grammar) (trail : List Kind) : Prop :=
  ∀ before next after, trail = before ++ next :: after → ∀ b, ¬ g.Breaks before next b

theorem obeys_nil (g : Grammar) : g.Obeys [] := by
  intro before next after h
  simp at h

theorem Obeys.left {trail' : List Kind} (h : g.Obeys (trail ++ trail')) : g.Obeys trail := by
  rintro before next after rfl
  exact h before next (after ++ trail') (by simp)

theorem obeys_concat :
    g.Obeys (trail ++ [next]) ↔ g.Obeys trail ∧ ∀ b, ¬ g.Breaks trail next b := by
  constructor
  · intro h
    exact ⟨h.left, h trail next [] rfl⟩
  · rintro ⟨hTrail, hNext⟩ before k after h
    rcases concat_eq_append_cons_iff.mp h with ⟨rfl, rfl, rfl⟩ | ⟨after', rfl, h'⟩
    · exact hNext
    · exact hTrail before k after' h'

end Grammar

/-! ### Scans -/

namespace Scan

variable {g : Grammar} {s : Scan} {trail : List Kind} {next : Kind}

/-- Where the alternation stands after `trail`: at `playing` when the latest kind of the pairing is
`play`.  Where `play` and `pause` are one kind, the trail has none of it, since its first visit breaks
the rule. -/
structure Stands (g : Grammar) (playback : Playback) (trail : List Kind) : Prop where
  playing : ∀ p, g.pairing = some p → (playback = .playing ↔ p.latest? trail = some p.play)
  distinct : ∀ p, g.pairing = some p → p.play = p.pause → p.latest? trail = none

theorem Stands.of_pairing {p : Pairing} {playback : Playback} (hp : g.pairing = some p)
    (hPlaying : playback = .playing ↔ p.latest? trail = some p.play)
    (hDistinct : p.play = p.pause → p.latest? trail = none) : Stands g playback trail where
  playing p' hp' := by cases hp.symm.trans hp'; exact hPlaying
  distinct p' hp' := by cases hp.symm.trans hp'; exact hDistinct

/-- The state `s` is that of a scan that has visited `trail`. -/
structure Follows (g : Grammar) (s : Scan) (trail : List Kind) : Prop where
  seen : ∀ k, k ∈ s.seen ↔ k ∈ g.onceOnly ∧ k ∈ trail
  stands : Stands g s.playback trail

theorem Follows.initial (g : Grammar) : Follows g {} [] where
  seen := by simp
  stands := ⟨by simp, by simp⟩

theorem count_eq_error (h : Follows g s trail) (hOnce : next ∈ g.onceOnly) (hIn : next ∈ trail) :
    s.count g next = .error (.duplicateSingleOccurrence next) := by
  have hSeen : next ∈ s.seen := (h.seen next).mpr ⟨hOnce, hIn⟩
  simp [count, hOnce, hSeen]

/-- A count without a breach adds the kind to those seen and leaves the alternation as it is. -/
theorem count_eq_ok (h : Follows g s trail) (hNew : ¬ (next ∈ g.onceOnly ∧ next ∈ trail)) :
    ∃ seen, s.count g next = .ok { s with seen } ∧
      ∀ k, k ∈ seen ↔ k ∈ g.onceOnly ∧ k ∈ trail ++ [next] := by
  by_cases hOnce : next ∈ g.onceOnly
  · have hSeen : next ∉ s.seen := fun hs => hNew ((h.seen next).mp hs)
    refine ⟨next :: s.seen, by simp [count, hOnce, hSeen], fun k => ?_⟩
    rw [List.mem_cons, h.seen, List.mem_append, List.mem_singleton]
    constructor
    · rintro (rfl | ⟨hk, hIn⟩)
      · exact ⟨hOnce, .inr rfl⟩
      · exact ⟨hk, .inl hIn⟩
    · rintro ⟨hk, hIn | rfl⟩
      · exact .inr ⟨hk, hIn⟩
      · exact .inl rfl
  · refine ⟨s.seen, by simp [count, hOnce], fun k => ?_⟩
    rw [h.seen, List.mem_append, List.mem_singleton]
    constructor
    · rintro ⟨hk, hIn⟩
      exact ⟨hk, .inl hIn⟩
    · rintro ⟨hk, hIn | rfl⟩
      · exact ⟨hk, hIn⟩
      · exact absurd hk hOnce

theorem alternate_eq_error_pause {p : Pairing} (h : Stands g s.playback trail)
    (hp : g.pairing = some p) (hNext : next = p.pause) (hLatest : p.latest? trail ≠ some p.play) :
    s.alternate g next = .error (.unpairedPlayPause next p.play) := by
  have hPlaying : s.playback ≠ .playing := fun hs => hLatest ((h.playing p hp).mp hs)
  simp [alternate, hp, hNext, hPlaying]

theorem alternate_eq_error_play {p : Pairing} (h : Stands g s.playback trail)
    (hp : g.pairing = some p) (hNext : next = p.play) (hNe : next ≠ p.pause)
    (hLatest : p.latest? trail = some p.play) :
    s.alternate g next = .error (.unpairedPlayPause next p.pause) := by
  have hPlaying : s.playback = .playing := (h.playing p hp).mpr hLatest
  simp [alternate, hp, hNext ▸ hNe, hNext, hPlaying]

/-- A visit that keeps the alternation leaves the kinds seen as they are. -/
theorem alternate_eq_ok (h : Stands g s.playback trail)
    (hPaired : ∀ p, g.pairing = some p → (next = p.pause → p.latest? trail = some p.play) ∧
      (next = p.play → next ≠ p.pause → p.latest? trail ≠ some p.play)) :
    ∃ playback, s.alternate g next = .ok { s with playback } ∧
      Stands g playback (trail ++ [next]) := by
  cases hp : g.pairing with
  | none => exact ⟨s.playback, by simp [alternate, hp], ⟨by simp [hp], by simp [hp]⟩⟩
  | some p =>
    obtain ⟨hPause, hPlay⟩ := hPaired p hp
    have hPlaying := h.playing p hp
    have hDistinct := h.distinct p hp
    by_cases hNextPause : next = p.pause
    · have hNow : s.playback = .playing := hPlaying.mpr (hPause hNextPause)
      have hNe : p.play ≠ p.pause := fun he => by
        have := hPause hNextPause
        rw [hDistinct he] at this
        cases this
      refine ⟨.paused, by simp [alternate, hp, hNextPause, hNow], .of_pairing hp ?_ ?_⟩
      · simp [Pairing.latest?_concat, hNextPause, Ne.symm hNe]
      · exact fun he => absurd he hNe
    · by_cases hNextPlay : next = p.play
      · have hNow : s.playback ≠ .playing := fun hs =>
          hPlay hNextPlay hNextPause (hPlaying.mp hs)
        refine ⟨.playing, by simp [alternate, hp, hNextPlay, hNextPlay ▸ hNextPause, hNow],
          .of_pairing hp ?_ ?_⟩
        · simp [Pairing.latest?_concat, hNextPlay]
        · exact fun he => absurd (hNextPlay.trans he) hNextPause
      · have hHas : ¬ p.Has next := by
          rintro (hEq | hEq)
          · exact hNextPlay hEq
          · exact hNextPause hEq
        refine ⟨s.playback, by simp [alternate, hp, hNextPause, hNextPlay], .of_pairing hp ?_ ?_⟩
        · rw [Pairing.latest?_concat, if_neg hHas]
          exact hPlaying
        · rw [Pairing.latest?_concat, if_neg hHas]
          exact hDistinct

theorem step_eq_ok (h : Follows g s trail) (hClean : ∀ b, ¬ g.Breaks trail next b) :
    ∃ s', s.step g (g.lastVisited trail) next = .ok s' ∧ Follows g s' (trail ++ [next]) := by
  obtain ⟨hNew, hKnown, hPaired, hAllowed⟩ := Grammar.clean_iff.mp hClean
  obtain ⟨seen, hCount, hSeen⟩ := count_eq_ok h hNew
  obtain ⟨playback, hAlternate, hStands⟩ := alternate_eq_ok (s := { s with seen }) h.stands hPaired
  refine ⟨{ seen, playback }, ?_, ⟨hSeen, hStands⟩⟩
  simp [step, hCount, hKnown, hAlternate, hAllowed, bind, Except.bind, pure, Except.pure]

/-- A visit that breaks rules is reported with the one that is tested first. -/
theorem step_eq_error {b : Breach} (h : Follows g s trail)
    (hFirst : Breach.IsFirst (g.Breaks trail next) b) :
    s.step g (g.lastVisited trail) next = .error b := by
  have hNew : 1 < b.rank → ¬ (next ∈ g.onceOnly ∧ next ∈ trail) := fun hRank ⟨hOnce, hIn⟩ =>
    hFirst.not_broken (.duplicateSingleOccurrence next) hRank (.duplicate hOnce hIn)
  have hKnown : 2 < b.rank → g.Declares next := fun hRank =>
    Classical.byContradiction fun hNot => hFirst.not_broken (.unknownKind next) hRank (.unknown hNot)
  cases hFirst.1 with
  | duplicate hOnce hIn =>
    simp [step, count_eq_error h hOnce hIn, bind, Except.bind]
  | unknown hNot =>
    obtain ⟨seen, hCount, -⟩ := count_eq_ok h (hNew (by simp))
    simp [step, hCount, hNot, bind, Except.bind, throw, throwThe, MonadExceptOf.throw]
  | pause hp hNext hLatest =>
    obtain ⟨seen, hCount, -⟩ := count_eq_ok h (hNew (by simp))
    have hAlternate := alternate_eq_error_pause (s := { s with seen }) h.stands hp hNext hLatest
    simp [step, hCount, hKnown (by simp), hAlternate, bind, Except.bind]
  | play hp hNext hNe hLatest =>
    obtain ⟨seen, hCount, -⟩ := count_eq_ok h (hNew (by simp))
    have hAlternate := alternate_eq_error_play (s := { s with seen }) h.stands hp hNext hNe hLatest
    simp [step, hCount, hKnown (by simp), hAlternate, bind, Except.bind]
  | forbidden hNot =>
    obtain ⟨seen, hCount, -⟩ := count_eq_ok h (hNew (by simp))
    have hPaired : ∀ p, g.pairing = some p → (next = p.pause → p.latest? trail = some p.play) ∧
        (next = p.play → next ≠ p.pause → p.latest? trail ≠ some p.play) := by
      intro p hp
      constructor
      · intro hNext
        by_contra hLatest
        exact hFirst.not_broken (.unpairedPlayPause next p.play) (by simp) (.pause hp hNext hLatest)
      · intro hNext hNe hLatest
        exact hFirst.not_broken (.unpairedPlayPause next p.pause) (by simp)
          (.play hp hNext hNe hLatest)
    obtain ⟨playback, hAlternate, -⟩ := alternate_eq_ok (s := { s with seen }) h.stands hPaired
    simp [step, hCount, hKnown (by simp), hAlternate, hNot, bind, Except.bind, throw, throwThe,
      MonadExceptOf.throw]

end Scan

/-! ### Runs -/

namespace Grammar

variable {g : Grammar} {trail : List Kind} {events : List Located} {v : Violation}

/-- The visit of `events` after `trail` stops with `v`: the events before the place of `v` break no
rule, and `v` reports the first rule that the event there breaks. -/
def Stops (g : Grammar) (trail : List Kind) (events : List Located) (v : Violation) : Prop :=
  ∃ before e after, events = before ++ e :: after ∧ v.index = e.index ∧
    g.Obeys (trail ++ before.map (·.kind)) ∧
    Breach.IsFirst (g.Breaks (trail ++ before.map (·.kind)) e.kind) v.breach

theorem not_stops_nil : ¬ g.Stops trail [] v := by
  rintro ⟨before, e, after, h, -⟩
  simp at h

theorem stops_cons_iff {e : Located} (hClean : ∀ b, ¬ g.Breaks trail e.kind b) :
    g.Stops trail (e :: events) v ↔ g.Stops (trail ++ [e.kind]) events v := by
  constructor
  · rintro ⟨before, d, after, h, hIndex, hBefore, hFirst⟩
    cases before with
    | nil =>
      cases h
      exact absurd (by simpa using hFirst.1) (hClean _)
    | cons d' before =>
      cases h
      exact ⟨before, d, after, rfl, hIndex, by simpa using hBefore, by simpa using hFirst⟩
  · rintro ⟨before, d, after, rfl, hIndex, hBefore, hFirst⟩
    exact ⟨e :: before, d, after, rfl, hIndex, by simpa using hBefore, by simpa using hFirst⟩

theorem stops_cons_iff_of_isFirst {e : Located} {b : Breach} (hTrail : g.Obeys trail)
    (hFirst : Breach.IsFirst (g.Breaks trail e.kind) b) :
    g.Stops trail (e :: events) v ↔ v = ⟨e.index, b⟩ := by
  constructor
  · rintro ⟨before, d, after, h, hIndex, hBefore, hFirst'⟩
    cases before with
    | nil =>
      cases h
      obtain ⟨index, breach⟩ := v
      cases hIndex
      rw [isFirst_unique hFirst (by simpa using hFirst')]
    | cons d' before =>
      cases h
      have hBefore : g.Obeys ((trail ++ [e.kind]) ++ before.map (·.kind)) := by simpa using hBefore
      exact absurd hFirst.1 ((obeys_concat.mp hBefore.left).2 b)
  · rintro rfl
    exact ⟨[], e, events, rfl, rfl, by simpa using hTrail, by simpa using hFirst⟩

end Grammar

namespace Scan

variable {g : Grammar} {s : Scan} {trail : List Kind}

/-- A scan reaches the end of the events exactly when their visits break no rule. -/
theorem run_eq_ok_iff (h : Follows g s trail) (hTrail : g.Obeys trail) (events : List Located) :
    (∃ s', run g s (g.lastVisited trail) events = .ok s') ↔
      g.Obeys (trail ++ events.map (·.kind)) := by
  induction events generalizing s trail with
  | nil => simpa [run] using hTrail
  | cons e events ih =>
    by_cases hBroken : ∃ b, g.Breaks trail e.kind b
    · obtain ⟨b, hFirst⟩ := Breach.exists_isFirst hBroken
      simp only [run, step_eq_error h hFirst, reduceCtorEq, exists_false, false_iff]
      intro hAll
      have hAll : g.Obeys ((trail ++ [e.kind]) ++ events.map (·.kind)) := by simpa using hAll
      exact (Grammar.obeys_concat.mp hAll.left).2 b hFirst.1
    · have hClean : ∀ b, ¬ g.Breaks trail e.kind b := fun b hb => hBroken ⟨b, hb⟩
      obtain ⟨s', hStep, hFollows⟩ := step_eq_ok h hClean
      have hNext := ih hFollows (Grammar.obeys_concat.mpr ⟨hTrail, hClean⟩)
      simp only [Grammar.lastVisited_concat, List.append_assoc, List.singleton_append] at hNext
      simpa only [run, hStep, List.map_cons] using hNext

/-- A scan reports the violation with which the visit of the events stops. -/
theorem run_eq_error_iff (h : Follows g s trail) (hTrail : g.Obeys trail) (events : List Located)
    (v : Violation) :
    run g s (g.lastVisited trail) events = .error v ↔ g.Stops trail events v := by
  induction events generalizing s trail with
  | nil => simp [run, Grammar.not_stops_nil]
  | cons e events ih =>
    by_cases hBroken : ∃ b, g.Breaks trail e.kind b
    · obtain ⟨b, hFirst⟩ := Breach.exists_isFirst hBroken
      rw [Grammar.stops_cons_iff_of_isFirst hTrail hFirst]
      simp only [run, step_eq_error h hFirst, Except.error.injEq]
      exact eq_comm
    · have hClean : ∀ b, ¬ g.Breaks trail e.kind b := fun b hb => hBroken ⟨b, hb⟩
      obtain ⟨s', hStep, hFollows⟩ := step_eq_ok h hClean
      have hNext := ih hFollows (Grammar.obeys_concat.mpr ⟨hTrail, hClean⟩)
      rw [Grammar.lastVisited_concat] at hNext
      rw [Grammar.stops_cons_iff hClean, ← hNext]
      simp only [run, hStep]

end Scan

end PlayerSession
