import Mathlib.Order.Bounds.Basic
import PlayerSession.Proofs.Check.Route
import PlayerSession.Proofs.Kind

/-! A cursor that goes by places.  It stands at one place of the meaningful events after another, looks for
the place to visit next, and counts the visits of once-only kinds in words.  Reading, looking and counting
may each go wrong in this form, and the lemmas here say where they do not. -/

namespace PlayerSession

/-- What may go wrong in a scan by places. -/
inductive Mishap where
  /-- There is no event at the place that is read. -/
  | outside (place : Nat)
  /-- One is taken from a length of zero. -/
  | belowZero
  /-- A count is too large for its word. -/
  | overflow
  deriving DecidableEq

/-- Where a scan by places stands, how often it has visited once-only kinds, and where the alternation
stands. -/
structure Cursor where
  place : Nat := 0
  counts : KindMap UInt32 := .empty
  playback : Playback := .untouched
  deriving DecidableEq

namespace Cursor

/-- The event at a place. -/
def read (events : List Located) (place : Nat) : Except Mishap Located :=
  match events[place]? with
  | some e => .ok e
  | none => .error (.outside place)

/-- The last place. -/
def lastPlace (events : List Located) : Except Mishap Nat :=
  match events.length with
  | 0 => .error .belowZero
  | n + 1 => .ok n

/-- Looks from `place` on for an event that is not skipped, but no further than to the place `last`. -/
def seek (g : Grammar) (events : List Located) (last place : Nat) : Except Mishap Nat :=
  if place < last then do
    let e ← read events place
    if e.kind ∈ g.skipped then seek g events last (place + 1) else return place
  else return place
termination_by last - place

/-- The place to visit after `place`. -/
def nextPlace (g : Grammar) (events : List Located) (place : Nat) : Except Mishap Nat :=
  seek g events (events.length - 1) (place + 1)

/-- How often a kind was visited. -/
def count (c : Cursor) (kind : Kind) : UInt32 := (c.counts.get? kind).getD 0

/-- Counts another visit of a kind. -/
def tally (c : Cursor) (kind : Kind) : Except Mishap Cursor :=
  if (c.count kind).toNat + 1 < UInt32.size then
    .ok { c with counts := c.counts.insert kind (c.count kind + 1) }
  else .error .overflow

/-- What is tested of a visit behind the count: known kinds, the alternation, forbidden transitions. -/
def test (g : Grammar) (c : Cursor) (current next : Kind) : Cursor × Option Breach :=
  if ¬ g.Declares next then (c, some (.unknownKind next))
  else
    match Scan.alternate g { playback := c.playback } next with
    | .error breach => (c, some breach)
    | .ok s =>
      ({ c with playback := s.playback },
        if g.Forbids current next then some (.forbiddenTransition current next) else none)

/-- Visits `next` after `current`: the cursor after it, and the first rule that is broken. -/
def visit (g : Grammar) (c : Cursor) (current next : Kind) : Except Mishap (Cursor × Option Breach) :=
  if next ∈ g.onceOnly then do
    let c ← c.tally next
    if 1 < c.count next then return (c, some (.duplicateSingleOccurrence next))
    else return c.test g current next
  else return c.test g current next

/-! ### Places -/

/-- A scan goes no further than to place `j`: it is the last place, or the event there is not skipped. -/
def Halts (g : Grammar) (events : List Located) (j : Nat) : Prop :=
  j + 1 = events.length ∨ ∃ e, events[j]? = some e ∧ e.kind ∉ g.skipped

section Places

variable {g : Grammar} {events front skips post : List Located} {current target : Located}

theorem read_eq {e : Located} (h : events = front ++ e :: post) : read events front.length = .ok e := by
  have hAt : events[front.length]? = some e := by simp [h]
  rw [read, hAt]

theorem lastPlace_eq (h : events = front ++ current :: post) :
    lastPlace events = .ok (front.length + post.length) := by
  have hLength : events.length = front.length + post.length + 1 := by
    rw [h, List.length_append, List.length_cons, Nat.add_assoc]
  rw [lastPlace, hLength]

/-- The events that are visited begin with the first that is not skipped, or with the last. -/
theorem exists_visited_cons {rest : List Located} (h : rest ≠ []) :
    ∃ skips target post, rest = skips ++ target :: post ∧ (∀ e ∈ skips, e.kind ∈ g.skipped) ∧
      (target.kind ∉ g.skipped ∨ post = []) ∧ g.visited rest = target :: g.visited post := by
  induction rest with
  | nil => exact absurd rfl h
  | cons e rest ih =>
    cases rest with
    | nil => exact ⟨[], e, [], rfl, by simp, .inr rfl, rfl⟩
    | cons d rest =>
      by_cases hSkip : e.kind ∈ g.skipped
      · obtain ⟨skips, target, post, hRest, hSkips, hTarget, hVisited⟩ := ih (List.cons_ne_nil d rest)
        refine ⟨e :: skips, target, post, by rw [hRest]; rfl, ?_, hTarget, ?_⟩
        · exact List.forall_mem_cons.mpr ⟨hSkip, hSkips⟩
        · rw [Grammar.visited, if_pos hSkip, hVisited]
      · exact ⟨[], e, d :: rest, rfl, by simp, .inl hSkip, by rw [Grammar.visited, if_neg hSkip]⟩

theorem seek_eq (h : events = front ++ (skips ++ target :: post))
    (hSkips : ∀ e ∈ skips, e.kind ∈ g.skipped) (hTarget : target.kind ∉ g.skipped ∨ post = []) :
    seek g events (events.length - 1) front.length = .ok (front.length + skips.length) := by
  have hLength : events.length = front.length + (skips.length + post.length) + 1 := by
    simp only [h, List.length_append, List.length_cons]
    omega
  induction skips generalizing front with
  | nil =>
    unfold seek
    split
    · rename_i hBefore
      have hNot : target.kind ∉ g.skipped := hTarget.resolve_right fun hNil => by
        subst hNil
        simp at hLength
        omega
      rw [read_eq h]
      exact if_neg hNot
    · rfl
  | cons e skips ih =>
    obtain ⟨hSkip, hSkips⟩ := List.forall_mem_cons.mp hSkips
    have hNext : events = (front ++ [e]) ++ (skips ++ target :: post) := by simp [h]
    have hSeek := ih hNext hSkips (by simp [hLength]; omega)
    simp only [List.length_append, List.length_singleton] at hSeek
    rw [seek, if_pos (by simp at hLength; omega), read_eq h, List.length_cons]
    show (if e.kind ∈ g.skipped then _ else _) = _
    rw [if_pos hSkip, hSeek]
    congr 1
    omega

theorem isLeast_halts (h : events = front ++ (skips ++ target :: post))
    (hSkips : ∀ e ∈ skips, e.kind ∈ g.skipped) (hTarget : target.kind ∉ g.skipped ∨ post = []) :
    IsLeast {j | front.length ≤ j ∧ Halts g events j} (front.length + skips.length) := by
  have hLength : events.length = front.length + (skips.length + post.length) + 1 := by
    simp only [h, List.length_append, List.length_cons]
    omega
  refine ⟨⟨Nat.le_add_right _ _, ?_⟩, fun j ⟨hLow, hHalts⟩ => ?_⟩
  · rcases hTarget with hNot | rfl
    · exact .inr ⟨target, by simp [h, ← List.append_assoc], hNot⟩
    · exact .inl (by simp [hLength])
  · by_contra hHigh
    obtain ⟨i, rfl⟩ := Nat.exists_eq_add_of_le hLow
    have hi : i < skips.length := by omega
    rcases hHalts with hLast | ⟨e, hAt, hNot⟩
    · omega
    · rw [h, List.getElem?_append_right (Nat.le_add_right _ _), Nat.add_sub_cancel_left,
        List.getElem?_append_left hi] at hAt
      exact hNot (hSkips e (List.mem_of_getElem? hAt))

end Places

/-! ### Visits -/

/-- The cursor has the state of the scan: once-only kinds that the scan has seen are counted once, and all
other kinds not at all. -/
structure Tracks (c : Cursor) (s : Scan) : Prop where
  playback : c.playback = s.playback
  counts : ∀ kind, c.count kind = if kind ∈ s.seen then 1 else 0

/-- A cursor makes of a visit what a scan makes of it. -/
inductive Agrees (c : Cursor) : Except Breach Scan → Cursor × Option Breach → Prop
  | ok {c' : Cursor} {s : Scan} : c'.place = c.place → Tracks c' s → Agrees c (.ok s) (c', none)
  | error {c' : Cursor} {b : Breach} : c'.place = c.place → (∀ kind, c'.count kind ≤ 2) →
      Agrees c (.error b) (c', some b)

section Visits

variable {g : Grammar} {c : Cursor} {s : Scan} {current next kind : Kind}

theorem tracks_start : Tracks {} {} where
  playback := rfl
  counts _ := rfl

theorem Agrees.of_place {c c' : Cursor} {stepped : Except Breach Scan} {visited : Cursor × Option Breach}
    (h : Agrees c' stepped visited) (hPlace : c'.place = c.place) : Agrees c stepped visited := by
  cases h with
  | ok hSame hTracks => exact .ok (hSame.trans hPlace) hTracks
  | error hSame hCounts => exact .error (hSame.trans hPlace) hCounts

theorem Tracks.count_le (h : Tracks c s) (kind : Kind) : c.count kind ≤ 2 := by
  rw [h.counts]
  split <;> decide

/-- A count that is small is not run over. -/
theorem tally_eq (h : c.count kind ≤ 2) :
    ∃ c', c.tally kind = .ok c' ∧ c'.place = c.place ∧ c'.playback = c.playback ∧
      ∀ k, c'.count k = if k = kind then c.count kind + 1 else c.count k := by
  have hSmall : (c.count kind).toNat ≤ 2 := UInt32.le_iff_toNat_le.mp h
  have hFits : (c.count kind).toNat + 1 < UInt32.size :=
    Nat.lt_of_le_of_lt (Nat.succ_le_succ hSmall) (by decide)
  refine ⟨_, if_pos hFits, rfl, rfl, fun k => ?_⟩
  by_cases hKind : k = kind
  · subst hKind
    rw [if_pos rfl, count, KindMap.get?_insert_self]
    rfl
  · rw [if_neg hKind, count, KindMap.get?_insert_of_ne hKind, count]

/-- What a scan tests of a visit behind the count. -/
theorem step_eq (g : Grammar) (s : Scan) (current next : Kind) :
    s.step g current next = (s.count g next).bind fun s =>
      if ¬ g.Declares next then .error (.unknownKind next)
      else (s.alternate g next).bind fun s =>
        if g.Forbids current next then .error (.forbiddenTransition current next) else .ok s := by
  cases hCount : s.count g next with
  | error b => simp [Scan.step, hCount, bind, Except.bind]
  | ok s =>
    by_cases hKnown : g.Declares next
    · cases hAlternate : s.alternate g next with
      | error b => simp [Scan.step, hCount, hKnown, hAlternate, bind, Except.bind]
      | ok s =>
        by_cases hForbids : g.Forbids current next <;>
          simp [Scan.step, hCount, hKnown, hAlternate, hForbids, bind, Except.bind, pure, Except.pure,
            throw, throwThe, MonadExceptOf.throw]
    · simp [Scan.step, hCount, hKnown, bind, Except.bind, throw, throwThe, MonadExceptOf.throw]

/-- The alternation does not depend on the kinds that were seen, and does not change them. -/
theorem alternate_eq (g : Grammar) (s : Scan) (next : Kind) :
    s.alternate g next =
      (Scan.alternate g { playback := s.playback } next).map fun t => { s with playback := t.playback } := by
  unfold Scan.alternate
  cases g.pairing with
  | none => rfl
  | some p =>
    dsimp only
    by_cases hPause : next = p.pause
    · rw [if_pos hPause, if_pos hPause]
      split <;> rfl
    · rw [if_neg hPause, if_neg hPause]
      by_cases hPlay : next = p.play
      · rw [if_pos hPlay, if_pos hPlay]
        split <;> rfl
      · rw [if_neg hPlay, if_neg hPlay]
        rfl

theorem Tracks.test (h : Tracks c s) :
    Agrees c
      (if ¬ g.Declares next then .error (.unknownKind next)
      else (s.alternate g next).bind fun s =>
        if g.Forbids current next then .error (.forbiddenTransition current next) else .ok s)
      (c.test g current next) := by
  rw [Cursor.test]
  split
  · exact .error rfl h.count_le
  · rw [alternate_eq, ← h.playback]
    cases Scan.alternate g { playback := c.playback } next with
    | error b => exact .error rfl h.count_le
    | ok t =>
      have hTracks : Tracks { c with playback := t.playback } { s with playback := t.playback } :=
        ⟨rfl, h.counts⟩
      by_cases hForbids : g.Forbids current next
      · simp only [Except.map, Except.bind, if_pos hForbids]
        exact .error rfl hTracks.count_le
      · simp only [Except.map, Except.bind, if_neg hForbids]
        exact .ok rfl hTracks

/-- A visit goes through without a mishap, and as a scan does it. -/
theorem Tracks.visit (h : Tracks c s) (g : Grammar) (current next : Kind) :
    ∃ visited, c.visit g current next = .ok visited ∧ Agrees c (s.step g current next) visited := by
  rw [step_eq, Cursor.visit, Scan.count]
  by_cases hOnce : next ∈ g.onceOnly
  · obtain ⟨c', hTally, hPlace, hPlayback, hCounts⟩ := tally_eq (h.count_le next)
    have hNext : c'.count next = c.count next + 1 := (hCounts next).trans (if_pos rfl)
    rw [if_pos hOnce, if_neg (not_not_intro hOnce), hTally]
    by_cases hSeen : next ∈ s.seen
    · -- the second visit is counted as well
      have hTwo : c'.count next = 2 := by
        rw [hNext, h.counts, if_pos hSeen]
        rfl
      refine ⟨(c', some (.duplicateSingleOccurrence next)), ?_, ?_⟩
      · show (if 1 < c'.count next then _ else _) = _
        rw [if_pos (by rw [hTwo]; decide)]
        rfl
      · rw [if_pos hSeen]
        refine .error hPlace fun kind => ?_
        rw [hCounts]
        split
        · rw [← hNext, hTwo]
          decide
        · exact h.count_le kind
    · have hOne : c'.count next = 1 := by
        rw [hNext, h.counts, if_neg hSeen]
        rfl
      have hTracks : Tracks c' { s with seen := next :: s.seen } := by
        refine ⟨hPlayback.trans h.playback, fun kind => ?_⟩
        rw [hCounts]
        by_cases hKind : kind = next
        · rw [if_pos hKind, ← hNext, hOne, if_pos (hKind ▸ List.mem_cons_self)]
        · rw [if_neg hKind, h.counts]
          simp only [List.mem_cons, hKind, false_or]
      refine ⟨c'.test g current next, ?_, ?_⟩
      · show (if 1 < c'.count next then _ else _) = _
        rw [if_neg (by rw [hOne]; decide)]
        rfl
      · rw [if_neg hSeen]
        exact hTracks.test.of_place hPlace
  · rw [if_neg hOnce, if_pos hOnce]
    exact ⟨_, rfl, h.test⟩

end Visits

end Cursor

end PlayerSession
