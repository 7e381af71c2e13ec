import PlayerSession.Grammar.Reference
import PlayerSession.Proofs.Check.Cursor

/-! A check that goes by places, turn by turn.  In this form a check could read where there is no event, take
one from an empty length, run a count over or never come to an end.  `check_by_places` says that it does
nothing of the kind and comes to the outcome of `Grammar.check`. -/

namespace PlayerSession.Cursor

/-- How far a check by places has come. -/
inductive Stage where
  /-- It is over without a scan. -/
  | settled (outcome : Except Violation Unit)
  /-- The cursor is about to make a turn. -/
  | scanning (c : Cursor)
  /-- The scan has come to its end. -/
  | ended (c : Cursor)
  /-- The scan has found a violation. -/
  | stopped (c : Cursor) (v : Violation)
  | failed (mishap : Mishap)
  deriving DecidableEq

/-- A turn of the scan: visits the next place, unless the cursor stands at the last one. -/
def turn (g : Grammar) (events : List Located) (c : Cursor) : Except Mishap Stage := do
  if c.place < (← lastPlace events) then
    let next ← nextPlace g events c.place
    let current ← read events c.place
    let target ← read events next
    match ← c.visit g current.kind target.kind with
    | (c, some breach) => return .stopped c ⟨target.index, breach⟩
    | (c, none) => return .scanning { c with place := next }
  else return .ended c

namespace Stage

/-- Where a check of meaningful events starts. -/
def start (g : Grammar) (events : List Located) : Stage :=
  match events.head? with
  | none => .settled (.ok ())
  | some first =>
    if first.kind = g.initial then .scanning {}
    else .settled (.error ⟨first.index, .initialNotFirst g.initial g.wildcards.keys⟩)

/-- A scan makes a turn, and a check that is over stays as it is. -/
def advance (g : Grammar) (events : List Located) : Stage → Stage
  | .scanning c =>
    match c.turn g events with
    | .ok stage => stage
    | .error mishap => .failed mishap
  | stage => stage

/-- The stage after `n` turns. -/
def afterTurns (g : Grammar) (events : List Located) : Nat → Stage
  | 0 => start g events
  | n + 1 => (afterTurns g events n).advance g events

/-- The cursor of a scan. -/
def cursor? : Stage → Option Cursor
  | .scanning c | .ended c | .stopped c _ => some c
  | .settled _ | .failed _ => none

/-- The outcome of a check that is over. -/
def outcome? : Stage → Option (Except Violation Unit)
  | .settled outcome => some outcome
  | .ended _ => some (.ok ())
  | .stopped _ v => some (.error v)
  | .scanning _ | .failed _ => none

end Stage

/-! ### Turns -/

/-- The cursor stands at an event, and what is left of the check is a scan of the events behind it. -/
structure Stands (g : Grammar) (events : List Located) (c : Cursor) (s : Scan) (before : List Located)
    (current : Located) (rest : List Located) : Prop where
  events_eq : events = before ++ current :: rest
  place : c.place = before.length
  tracks : Tracks c s
  outcome : g.judge (g.route events) = (Scan.run g s current.kind (g.visited rest)).map fun _ => ()

/-- A stage at which nothing has gone wrong and the check is to come to its outcome. -/
inductive Stage.Sound (g : Grammar) (events : List Located) : Stage → Prop
  | settled {outcome : Except Violation Unit} : g.judge (g.route events) = outcome →
      Sound g events (.settled outcome)
  | scanning {c : Cursor} {s : Scan} {before rest : List Located} {current : Located} :
      Stands g events c s before current rest → Sound g events (.scanning c)
  | ended {c : Cursor} : c.place + 1 = events.length → (∀ kind, c.count kind ≤ 2) →
      g.judge (g.route events) = .ok () → Sound g events (.ended c)
  | stopped {c : Cursor} {v : Violation} : c.place + 1 < events.length →
      (∀ kind, c.count kind ≤ 2) → g.judge (g.route events) = .error v →
      Sound g events (.stopped c v)

section Turns

variable {g : Grammar} {events before rest : List Located} {current : Located} {c : Cursor} {s : Scan}

/-- Behind an event that is not the last, the place to visit next is found. -/
theorem exists_next (hEvents : events = before ++ current :: rest) (hRest : rest ≠ []) :
    ∃ skips target post, rest = skips ++ target :: post ∧
      g.visited rest = target :: g.visited post ∧
      nextPlace g events before.length = .ok (before.length + 1 + skips.length) ∧
      IsLeast {j | before.length < j ∧ Halts g events j} (before.length + 1 + skips.length) := by
  obtain ⟨skips, target, post, rfl, hSkips, hTarget, hVisited⟩ := exists_visited_cons (g := g) hRest
  have hFront : events = (before ++ [current]) ++ (skips ++ target :: post) := by simp [hEvents]
  have hSeek := seek_eq hFront hSkips hTarget
  have hLeast := isLeast_halts hFront hSkips hTarget
  rw [List.length_append, List.length_singleton] at hSeek hLeast
  exact ⟨skips, target, post, rfl, hVisited, hSeek, hLeast⟩

theorem Stands.length_eq (h : Stands g events c s before current rest) :
    events.length = c.place + 1 + rest.length := by
  rw [h.events_eq, h.place, List.length_append, List.length_cons]
  omega

/-- A turn of a cursor that stands at the last event. -/
theorem turn_at_last (h : Stands g events c s before current []) : c.turn g events = .ok (.ended c) := by
  have hLast : lastPlace events = .ok c.place := h.place ▸ lastPlace_eq h.events_eq
  simp only [Cursor.turn, hLast, bind, Except.bind, Nat.lt_irrefl, if_false, pure, Except.pure]

/-- A turn goes through without a mishap, and a cursor that goes on has moved. -/
theorem Stands.turn (h : Stands g events c s before current rest) :
    ∃ stage, c.turn g events = .ok stage ∧ stage.Sound g events ∧
      ∀ c', stage = .scanning c' → c.place < c'.place := by
  have hLength := h.length_eq
  by_cases hRest : rest = []
  · subst hRest
    refine ⟨.ended c, turn_at_last h, .ended hLength.symm h.tracks.count_le h.outcome, ?_⟩
    intro c' hStage
    cases hStage
  · obtain ⟨skips, target, post, rfl, hVisited, hNext, -⟩ := exists_next (g := g) h.events_eq hRest
    have hTarget : events = (before ++ current :: skips) ++ target :: post := by simp [h.events_eq]
    have hPlace : (before ++ current :: skips).length = c.place + 1 + skips.length := by
      rw [h.place, List.length_append, List.length_cons]
      omega
    have hLast : lastPlace events = .ok (c.place + (skips ++ target :: post).length) :=
      h.place ▸ lastPlace_eq h.events_eq
    have hBefore : c.place < c.place + (skips ++ target :: post).length :=
      Nat.lt_add_of_pos_right (List.length_pos_of_ne_nil hRest)
    have hCurrent := read_eq h.events_eq
    have hRead := read_eq hTarget
    rw [hPlace] at hRead
    rw [← h.place] at hNext hCurrent
    obtain ⟨⟨c', breach?⟩, hVisit, hAgrees⟩ := h.tracks.visit g current.kind target.kind
    have hOutcome := h.outcome
    rw [hVisited, Scan.run] at hOutcome
    simp only [Cursor.turn, hLast, bind, Except.bind, hBefore, if_true, hNext, hCurrent, hRead, hVisit]
    cases hStep : s.step g current.kind target.kind with
    | error b =>
      rw [hStep] at hAgrees hOutcome
      cases hAgrees with
      | error hSame hCounts =>
        refine ⟨_, rfl, .stopped ?_ hCounts hOutcome, fun c' hStage => by cases hStage⟩
        simp only [hSame, hLength, List.length_append, List.length_cons]
        omega
    | ok s' =>
      rw [hStep] at hAgrees hOutcome
      cases hAgrees with
      | ok hSame hTracks =>
        have hStands : Stands g events { c' with place := c.place + 1 + skips.length } s'
            (before ++ current :: skips) target post :=
          ⟨hTarget, hPlace.symm, ⟨hTracks.playback, hTracks.counts⟩, hOutcome⟩
        refine ⟨_, rfl, .scanning hStands, fun c' hStage => ?_⟩
        cases hStage
        show c.place < c.place + 1 + skips.length
        omega

end Turns

/-! ### Checks -/

namespace Stage

variable {g : Grammar} {events : List Located} {c : Cursor} {stage : Stage} {n : Nat}

theorem sound_start (g : Grammar) (events : List Located) : (start g events).Sound g events := by
  cases events with
  | nil => exact .settled rfl
  | cons first tail =>
    by_cases hFirst : first.kind = g.initial
    · have hStart : start g (first :: tail) = .scanning {} := if_pos hFirst
      have hStands : Stands g (first :: tail) {} {} [] first tail :=
        ⟨rfl, rfl, tracks_start, if_pos hFirst⟩
      rw [hStart]
      exact .scanning hStands
    · have hStart : start g (first :: tail) = .settled _ := if_neg hFirst
      rw [hStart]
      exact .settled (if_neg hFirst)

theorem Sound.advance (h : stage.Sound g events) : (stage.advance g events).Sound g events := by
  cases h with
  | settled hOutcome => exact .settled hOutcome
  | ended hPlace hCounts hOutcome => exact .ended hPlace hCounts hOutcome
  | stopped hPlace hCounts hOutcome => exact .stopped hPlace hCounts hOutcome
  | scanning hStands =>
    obtain ⟨stage, hTurn, hSound, -⟩ := hStands.turn
    rw [Stage.advance, hTurn]
    exact hSound

theorem sound_afterTurns (g : Grammar) (events : List Located) (n : Nat) :
    (afterTurns g events n).Sound g events := by
  induction n with
  | zero => exact sound_start g events
  | succ n ih => exact ih.advance

/-- Every turn moves the cursor. -/
theorem le_place_afterTurns (h : afterTurns g events n = .scanning c) : n ≤ c.place := by
  induction n generalizing c with
  | zero => exact Nat.zero_le c.place
  | succ n ih =>
    have hSound := sound_afterTurns g events n
    rw [afterTurns] at h
    cases hStage : afterTurns g events n with
    | settled | ended | stopped | failed =>
      rw [hStage] at h
      cases h
    | scanning c₀ =>
      rw [hStage] at h hSound
      cases hSound with
      | scanning hStands =>
        obtain ⟨stage, hTurn, -, hMoves⟩ := hStands.turn
        rw [Stage.advance, hTurn] at h
        exact Nat.lt_of_le_of_lt (ih hStage) (hMoves c h)

theorem Sound.place_lt (h : stage.Sound g events) (hCursor : stage.cursor? = some c) :
    c.place < events.length ∧ ∀ kind, c.count kind ≤ 2 := by
  cases h with
  | settled => cases hCursor
  | scanning hStands =>
    cases hCursor
    have hLength := hStands.length_eq
    exact ⟨by omega, hStands.tracks.count_le⟩
  | ended hPlace hCounts | stopped hPlace hCounts =>
    cases hCursor
    exact ⟨by omega, hCounts⟩

/-- A check that is over has come to its outcome. -/
theorem Sound.outcome?_eq (h : stage.Sound g events) (hOver : ∀ c, stage ≠ .scanning c) :
    stage.outcome? = some (g.judge (g.route events)) := by
  cases h with
  | settled hOutcome => exact congrArg some hOutcome.symm
  | scanning => exact absurd rfl (hOver _)
  | ended _ _ hOutcome => exact congrArg some hOutcome.symm
  | stopped _ _ hOutcome => exact congrArg some hOutcome.symm

/-- After as many turns as there are events a check is over. -/
theorem outcome?_afterTurns (g : Grammar) (events : List Located) :
    (afterTurns g events events.length).outcome? = some (g.judge (g.route events)) := by
  have hSound := sound_afterTurns g events events.length
  refine hSound.outcome?_eq fun c hStage => ?_
  have hLow := le_place_afterTurns hStage
  have hHigh := (hSound.place_lt (c := c) (by rw [hStage]; rfl)).1
  omega

/-- A cursor that scans finds the next place, or stands at the last one and ends the scan. -/
theorem next_afterTurns (h : afterTurns g events n = .scanning c) :
    (c.place + 1 < events.length →
      ∃ j, nextPlace g events c.place = .ok j ∧ IsLeast {j | c.place < j ∧ Halts g events j} j ∧
        j < events.length) ∧
    (c.place + 1 = events.length → afterTurns g events (n + 1) = .ended c) := by
  have hSound := sound_afterTurns g events n
  rw [h] at hSound
  cases hSound with
  | @scanning _ s before rest current hStands =>
    have hLength := hStands.length_eq
    constructor
    · intro hBefore
      have hRest : rest ≠ [] := List.ne_nil_of_length_pos (by omega)
      obtain ⟨skips, target, post, rfl, -, hNext, hLeast⟩ :=
        exists_next (g := g) hStands.events_eq hRest
      rw [← hStands.place] at hNext hLeast
      refine ⟨_, hNext, hLeast, ?_⟩
      rw [hLength, List.length_append, List.length_cons]
      omega
    · intro hLast
      obtain rfl : rest = [] := List.eq_nil_of_length_eq_zero (by omega)
      rw [afterTurns, h, advance, turn_at_last hStands]

theorem place_of_ended (h : afterTurns g events n = .ended c) : c.place + 1 = events.length := by
  have hSound := sound_afterTurns g events n
  rw [h] at hSound
  cases hSound with
  | ended hPlace => exact hPlace

theorem afterTurns_ne_failed (g : Grammar) (events : List Located) (n : Nat) (mishap : Mishap) :
    afterTurns g events n ≠ .failed mishap := by
  intro h
  have hSound := sound_afterTurns g events n
  rw [h] at hSound
  cases hSound

end Stage

/-- Whatever the grammar and the sequence, a check by places meets with no mishap.  Its cursor stays at
places of events and its counts stay small; before the last place it finds as the next place the least one
behind it that is the last or has an event that is not skipped, and from the last place it goes no
further.  After as many turns as there are events the check is over with the outcome of `Grammar.check`,
and the place of a violation is one of the sequence, where the kind is no wildcard. -/
theorem check_by_places (g : Grammar) (kinds : List Kind) :
    let events := g.meaningful (Located.ofKinds kinds)
    (∀ n mishap, Stage.afterTurns g events n ≠ .failed mishap) ∧
    (∀ n c, (Stage.afterTurns g events n).cursor? = some c →
      c.place < events.length ∧ ∀ kind, c.count kind ≤ 2) ∧
    (∀ n c, Stage.afterTurns g events n = .scanning c →
      (c.place + 1 < events.length →
        ∃ j, nextPlace g events c.place = .ok j ∧ IsLeast {j | c.place < j ∧ Halts g events j} j ∧
          j < events.length) ∧
      (c.place + 1 = events.length → Stage.afterTurns g events (n + 1) = .ended c)) ∧
    (∀ n c, Stage.afterTurns g events n = .ended c → c.place + 1 = events.length) ∧
    (Stage.afterTurns g events events.length).outcome? = some (g.check kinds) ∧
    ∀ v, g.check kinds = .error v → ∃ kind, kinds[v.index]? = some kind ∧ kind ∉ g.wildcards := by
  intro events
  refine ⟨fun n mishap => Stage.afterTurns_ne_failed g events n mishap, fun n c hCursor =>
    (Stage.sound_afterTurns g events n).place_lt hCursor, fun n c hStage =>
    Stage.next_afterTurns hStage, fun n c hStage => Stage.place_of_ended hStage, ?_, fun v hCheck => ?_⟩
  · rw [Grammar.check_eq_judge]
    exact Stage.outcome?_afterTurns g events
  · obtain ⟨e, hMem, hIndex⟩ := Grammar.exists_mem_of_check hCheck
    obtain ⟨hIn, hKind⟩ := List.mem_filter.mp hMem
    rw [hIndex]
    exact ⟨e.kind, Located.mem_ofKinds.mp hIn, of_decide_eq_true hKind⟩

/-- A once-only kind comes a second time: the cursor goes from place 0 over a skipped kind to place 2, and
in the next turn, with the second visit counted, it stops.  Without the second visit it ends at place 2. -/
theorem check_by_places_of_loading :
    let kinds := ["metadata", "init", "warning", "loading", "heartbeat", "loading"]
    let events := Grammar.reference.meaningful (Located.ofKinds kinds)
    let short := Grammar.reference.meaningful (Located.ofKinds ["init", "warning", "loading"])
    let stopped : Cursor := { place := 2, counts := .ofList [("loading", 2)] }
    Stage.afterTurns Grammar.reference events 0 = .scanning {} ∧
      (∃ j, nextPlace Grammar.reference events 0 = .ok j ∧
        IsLeast {j | 0 < j ∧ Halts Grammar.reference events j} j ∧ j < events.length) ∧
      Stage.afterTurns Grammar.reference events 2 =
        .stopped stopped ⟨5, .duplicateSingleOccurrence "loading"⟩ ∧
      (∀ kind, stopped.count kind ≤ 2) ∧
      (∃ kind, kinds[5]? = some kind ∧ kind ∉ Grammar.reference.wildcards) ∧
      Stage.afterTurns Grammar.reference short 2 =
        .ended { place := 2, counts := .ofList [("loading", 1)] } := by
  intro kinds events short stopped
  obtain ⟨-, hSmall, hNext, -, -, hIndex⟩ := check_by_places Grammar.reference kinds
  obtain ⟨-, -, hNextShort, -, -, -⟩ :=
    check_by_places Grammar.reference ["init", "warning", "loading"]
  have hStart : Stage.afterTurns Grammar.reference events 0 = .scanning {} := by decide +kernel
  have hStop : Stage.afterTurns Grammar.reference events 2 =
      .stopped stopped ⟨5, .duplicateSingleOccurrence "loading"⟩ := by decide +kernel
  have hCheck : Grammar.reference.check kinds = .error ⟨5, .duplicateSingleOccurrence "loading"⟩ := by
    decide +kernel
  have hTurn : Stage.afterTurns Grammar.reference short 1 =
      .scanning { place := 2, counts := .ofList [("loading", 1)] } := by decide +kernel
  refine ⟨hStart, (hNext 0 {} hStart).1 (by decide +kernel), hStop, ?_, hIndex _ hCheck,
    (hNextShort 1 _ hTurn).2 (by decide +kernel)⟩
  exact (hSmall 2 stopped (congrArg Stage.cursor? hStop)).2

end PlayerSession.Cursor
